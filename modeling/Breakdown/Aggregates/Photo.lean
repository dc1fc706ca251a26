/-
**PHOTOS** (`core/src/photo/`, `infra/src/photo/projector.rs`).

A photo is uploaded, normalised, rendered into its variants and at last deleted. The aggregate
knows nothing of who links it. `project_id` is audit metadata and left out; of the read model only
the row with its version is kept, which is what the deletion sagas read.

- `handle_photoDeleted`: only `DeletePhoto` deletes a photo.
-/
import Breakdown.EventStore.EntityActor
import Breakdown.Lib.Fallible

namespace Breakdown

open Fallible

/-! ## §1. The aggregate -/

/-- The files of a photo. -/
inductive PhotoVariant
  | original
  | thumb
  | medium
  deriving DecidableEq

/-- Whether the file of a variant is there. -/
inductive VariantStatus
  | pending
  | ready
  | failed
  deriving DecidableEq

/-- What the photo was uploaded for. -/
inductive PhotoBinding
  | piece (pieceId : Uuid)
  | outfit (outfitId : Uuid)
  | continuity (sceneShootId : SceneShootId) (pieceId : Option Uuid)
  deriving DecidableEq

/-- What the aggregate records of a variant. -/
structure PhotoVariantRecord where
  kind : PhotoVariant
  status : VariantStatus
  sizeBytes : Nat
  deriving DecidableEq

/-- A photo: its binding and the records of its variants. -/
structure PhotoAggregate where
  /-- `PhotoId::default()` draws a fresh v7 id. -/
  id : PhotoId := ⟨.placeholderV7⟩
  contentType : String := ""
  sizeBytes : Nat := 0
  variants : List PhotoVariantRecord := []
  /-- The clock reading of `exif_stripped_at` is not modelled, only that there is one. -/
  exifStripped : Bool := false
  /-- `deleted_at.is_some()`. -/
  deleted : Bool := false
  binding : PhotoBinding := .piece .nil
  version : AggregateVersion := .initial

/-- What happens to a photo. -/
inductive PhotoEvent
  | photoUploaded (id : PhotoId) (contentType : String) (sizeBytes : Nat)
      (variantStatuses : List (PhotoVariant × VariantStatus)) (binding : PhotoBinding)
      (version : AggregateVersion)
  | originalNormalized (id : PhotoId) (newSize : Nat) (rotated : Bool) (version : AggregateVersion)
  | variantGenerated (id : PhotoId) (variant : PhotoVariant) (sizeBytes : Nat)
      (version : AggregateVersion)
  | variantFailed (id : PhotoId) (variant : PhotoVariant) (error : String)
      (version : AggregateVersion)
  | photoDeleted (id : PhotoId) (version : AggregateVersion)
  deriving DecidableEq

/-- The photo an event names. -/
@[simp] def PhotoEvent.id : PhotoEvent → PhotoId
  | .photoUploaded id .. | .originalNormalized id .. | .variantGenerated id ..
  | .variantFailed id .. | .photoDeleted id _ => id

/-- Why a photo command is refused. -/
inductive PhotoError
  | validationError (message : String)
  | notFound (id : Uuid)
  | alreadyDeleted
  | versionMismatch (expected actual : AggregateVersion)
  deriving DecidableEq

/-- Found the photo, with its original. -/
structure UploadPhoto where
  id : PhotoId
  contentType : String
  sizeBytes : Nat
  binding : PhotoBinding

/-- The original has been normalized. -/
structure NormalizeOriginal where
  id : PhotoId
  newSize : Nat
  rotated : Bool
  version : AggregateVersion

/-- A variant has been written. -/
structure GenerateVariant where
  id : PhotoId
  variant : PhotoVariant
  sizeBytes : Nat
  version : AggregateVersion

/-- A variant could not be made. -/
structure MarkVariantFailed where
  id : PhotoId
  variant : PhotoVariant
  error : String
  version : AggregateVersion

/-- Delete the photo at the version that was read. -/
structure DeletePhoto where
  id : PhotoId
  version : AggregateVersion

/-- The commands of a photo. -/
inductive PhotoCommand
  | upload (cmd : UploadPhoto)
  | normalizeOriginal (cmd : NormalizeOriginal)
  | generateVariant (cmd : GenerateVariant)
  | markVariantFailed (cmd : MarkVariantFailed)
  | delete (cmd : DeletePhoto)

namespace PhotoAggregate

variable (self : PhotoAggregate)

/-- What a handler returns. -/
abbrev Handled := Except PhotoError (List PhotoEvent)

/-- Change the first record of the given kind. -/
def updateVariant (kind : PhotoVariant) (f : PhotoVariantRecord → PhotoVariantRecord) :
    List PhotoVariantRecord → List PhotoVariantRecord
  | [] => []
  | record :: rest =>
    if record.kind = kind then f record :: rest else record :: updateVariant kind f rest

/-- `Apply for PhotoAggregate`. -/
def apply : PhotoEvent → PhotoAggregate
  | .photoUploaded id contentType sizeBytes variantStatuses binding version =>
    { self with
      id, contentType, sizeBytes, binding, version
      variants := variantStatuses.map fun (kind, status) => { kind, status, sizeBytes := 0 } }
  | .originalNormalized _ newSize _ version =>
    { self with
      variants := updateVariant .original
        (fun record => { record with sizeBytes := newSize, status := .ready }) self.variants
      sizeBytes := newSize
      exifStripped := true
      version }
  | .variantGenerated _ variant sizeBytes version =>
    { self with
      variants := updateVariant variant
        (fun record => { record with status := .ready, sizeBytes }) self.variants
      version }
  | .variantFailed _ variant _ version =>
    { self with
      variants := updateVariant variant (fun record => { record with status := .failed })
        self.variants
      version }
  | .photoDeleted _ version => { self with deleted := true, version }

/-- `check_not_deleted`. -/
def checkNotDeleted : Except PhotoError Unit :=
  ensure (!self.deleted) .alreadyDeleted

/-- `check_version`. -/
def checkVersion (expected : AggregateVersion) : Except PhotoError Unit :=
  ensure (expected = self.version) (.versionMismatch expected self.version)

/-- Is the variant already there? -/
def isReady (variant : PhotoVariant) : Bool :=
  self.variants.any fun record => record.kind = variant && record.status = .ready

/-- `Command<UploadPhoto>`. -/
def upload (_self : PhotoAggregate) (cmd : UploadPhoto) : Handled :=
  .ok [.photoUploaded cmd.id cmd.contentType cmd.sizeBytes
    [(.original, .pending), (.thumb, .pending), (.medium, .pending)] cmd.binding .initial]

/-- `Command<NormalizeOriginal>`: the version of the command is advisory. -/
def normalizeOriginal (cmd : NormalizeOriginal) : Handled := do
  self.checkNotDeleted
  if self.isReady .original then .ok []
  else .ok [.originalNormalized self.id cmd.newSize cmd.rotated self.version.next]

/-- `Command<GenerateVariant>`. -/
def generateVariant (cmd : GenerateVariant) : Handled := do
  self.checkNotDeleted
  if self.isReady cmd.variant then .ok []
  else .ok [.variantGenerated self.id cmd.variant cmd.sizeBytes self.version.next]

/-- `Command<MarkVariantFailed>`. -/
def markVariantFailed (cmd : MarkVariantFailed) : Handled := do
  self.checkNotDeleted
  self.checkVersion cmd.version
  .ok [.variantFailed self.id cmd.variant cmd.error self.version.next]

/-- `Command<DeletePhoto>`. -/
def delete (cmd : DeletePhoto) : Handled := do
  self.checkNotDeleted
  self.checkVersion cmd.version
  .ok [.photoDeleted self.id self.version.next]

/-- The handler of each command. -/
def handle : PhotoCommand → Handled
  | .upload cmd => self.upload cmd
  | .normalizeOriginal cmd => self.normalizeOriginal cmd
  | .generateVariant cmd => self.generateVariant cmd
  | .markVariantFailed cmd => self.markVariantFailed cmd
  | .delete cmd => self.delete cmd

instance : Entity PhotoAggregate PhotoEvent PhotoCommand PhotoError := { init := {}, apply, handle }

end PhotoAggregate

instance : IntoDomainError PhotoError where
  intoDomainError
    | .validationError message => .validation .photoValidation message
    | .notFound id => .notFound .photoNotFound "photo" id
    | .alreadyDeleted => .conflict .photoAlreadyDeleted "photo is already deleted"
    | .versionMismatch expected actual => .versionConflict expected actual

/-- Does the event delete the photo? -/
def PhotoEvent.isPhotoDeleted : PhotoEvent → Bool
  | .photoDeleted .. => true
  | _ => false

/-- Does the command delete the photo? -/
def PhotoCommand.isDelete : PhotoCommand → Bool
  | .delete _ => true
  | _ => false

namespace PhotoAggregate

/-- Only `DeletePhoto` emits the event that deletes a photo. -/
theorem handle_photoDeleted {self : PhotoAggregate} (h : self.handle cmd = .ok events)
    (hcmd : cmd.isDelete = false) (he : e ∈ events) : e.isPhotoDeleted = false := by
  cases cmd with
  | delete => cases hcmd
  | _ =>
    simp only [handle, upload, normalizeOriginal, generateVariant, markVariantFailed, check_eq_ok] at h
    grind [PhotoEvent.isPhotoDeleted]

end PhotoAggregate

/-! ## §2. The read model -/

/-- The row of `projection_photo`, reduced to what the deletion sagas read. -/
structure PhotoView where
  photoId : PhotoId
  version : AggregateVersion

/-- `PhotoProjector::handle` on the row of the event's photo: the upload inserts it at the column
default 1 and leaves the version of an existing row alone, every later event sets the version of
the row (`touch_photo`), the deletion removes it. -/
def projectPhoto (row : Option PhotoView) : PhotoEvent → Option PhotoView
  | .photoUploaded id .. => some (row.getD ⟨id, 1⟩)
  | .originalNormalized _ _ _ version => row.map ({ · with version })
  | .variantGenerated _ _ _ version => row.map ({ · with version })
  | .variantFailed _ _ _ version => row.map ({ · with version })
  | .photoDeleted .. => none

end Breakdown
