/-
**THE TWO SAGAS THAT DELETE PHOTOS NOBODY LINKS ANY MORE**
(`infra/src/photo/sagas/deletion.rs`, `continuity_deletion.rs`, `infra/src/photo/repository.rs`).

`PhotoDeletionSaga` counts the links of pieces and outfits, `ContinuityDeletionSaga` those of scene
shoots. Each keeps its counters in memory, is fed the events of its own streams one at a time, and
dispatches `DeletePhoto` when a counter reaches zero. The continuity saga first counts the rows of
the two wardrobe link tables; the wardrobe saga asks nobody. A failed handler stops the saga, and
its supervisor starts it again with empty counters from the first event.

Every append, projection, delivery, read and dispatch is one action, so every delivery that keeps
each stream's own order is a run, and anything may happen between a saga's reads and its dispatch.
What the sagas read is assumed to show every event that was delivered to them: an event reaches the
wardrobe saga only after the link tables have it.
-/
import Breakdown.Aggregates.Photo
import Breakdown.Photo.Holders
import Breakdown.WrapFinality.System

namespace Breakdown.Photo

open EventLog RefCount PhotoHolder

/-! ## §1. The streams of pieces and outfits -/

/-- The stream a piece command is executed on. -/
def pieceId : PieceCommand → Uuid
  | .create cmd => cmd.id
  | .rename cmd => cmd.id
  | .updateNotes cmd => cmd.id
  | .addToSeason cmd => cmd.id
  | .removeFromSeason cmd => cmd.id
  | .addDetail cmd => cmd.id
  | .updateDetail cmd => cmd.id
  | .removeDetail cmd => cmd.id
  | .setCategory cmd => cmd.id
  | .linkPhoto cmd => cmd.id
  | .unlinkPhoto cmd => cmd.id
  | .delete cmd => cmd.id

/-- The stream an outfit command is executed on. -/
def outfitId : OutfitCommand → Uuid
  | .create cmd => cmd.id
  | .createVariant cmd => cmd.id
  | .rename cmd => cmd.id
  | .updateNotes cmd => cmd.id
  | .addPiece cmd => cmd.id
  | .removePiece cmd => cmd.id
  | .linkPhoto cmd => cmd.id
  | .unlinkPhoto cmd => cmd.id
  | .delete cmd => cmd.id

/-! ## §2. Sagas -/

/-- What a saga still has to do about the event it is handling. -/
inductive Pending
  /-- The continuity saga is about to call `count_links`. -/
  | count (photo : Uuid)
  /-- About to call `find_by_id`. -/
  | find (photo : Uuid)
  /-- About to execute `DeletePhoto`. -/
  | dispatch (photo : Uuid) (version : AggregateVersion) (streamVersion : Nat)

def Pending.photo : Pending → Uuid
  | .count photo => photo
  | .find photo => photo
  | .dispatch photo _ _ => photo

/-- A saga with the streams `ι` it is fed from. -/
structure Saga (ι : Type) where
  /-- An absent entry of the map counts as 0: every access goes through `or_insert(0)`. -/
  refcounts : Uuid → Nat
  /-- How many events of each stream were delivered since the saga was started. -/
  seen : ι → Nat
  pending : Option Pending

namespace Saga

variable {ι : Type}

/-- A saga as its supervisor (re)starts it. -/
def start : Saga ι where
  refcounts := fun _ => 0
  seen := fun _ => 0
  pending := none

/-- Handle one event: links count up, an unlink counts down and, at zero, goes on to `next`. Every
other event is skipped. -/
def deliver [DecidableEq ι] (saga : Saga ι) (i : ι) (e : Effect Uuid) (next : Uuid → Pending) :
    Saga ι :=
  let refcounts := record saga.refcounts e
  { refcounts
    seen := Function.update saga.seen i (saga.seen i + 1)
    pending := match e with
      | .unlinked photo => if refcounts photo = 0 then some (next photo) else none
      | _ => none }

/-- The photo a saga has made up its mind about: nothing but the photo's own row and version can
still keep it from dispatching. -/
def cleared (saga : Saga ι) : Option Uuid := match saga.pending with
  | some (.find photo) => some photo
  | some (.dispatch photo _ _) => some photo
  | _ => none

end Saga

/-! ## §3. The state -/

/-- A stream of the wardrobe saga. -/
inductive WardrobeRef
  | piece (id : Uuid)
  | outfit (id : Uuid)
  deriving DecidableEq

/-- `projection_piece_photo` or `projection_outfit_photo`, and how far each stream is projected. -/
structure LinkTable where
  rows : List (Uuid × Uuid)
  projected : Uuid → Nat

/-- `projection_photo`. -/
structure PhotoTable where
  row : PhotoId → Option PhotoView
  projected : PhotoId → Nat

/-- The four kinds of streams, their tables and the two sagas. -/
structure World where
  pieces : ActorSystem Uuid PieceAggregate
  outfits : ActorSystem Uuid OutfitAggregate
  shoots : ActorSystem SceneShootId SceneShootAggregate
  photos : ActorSystem PhotoId PhotoAggregate
  pieceTable : LinkTable
  outfitTable : LinkTable
  photoTable : PhotoTable
  wardrobe : Saga WardrobeRef
  continuity : Saga SceneShootId

namespace World

/-- Nothing stored, nothing seen. -/
def init : World where
  pieces := .init
  outfits := .init
  shoots := .init
  photos := .init
  pieceTable := ⟨[], fun _ => 0⟩
  outfitTable := ⟨[], fun _ => 0⟩
  photoTable := ⟨fun _ => none, fun _ => 0⟩
  wardrobe := .start
  continuity := .start

/-- The photo effects of a piece's stream. -/
def pieceLog (w : World) (id : Uuid) : List (Effect Uuid) :=
  effects PieceAggregate (w.pieces.streams id)

def outfitLog (w : World) (id : Uuid) : List (Effect Uuid) :=
  effects OutfitAggregate (w.outfits.streams id)

def shootLog (w : World) (id : SceneShootId) : List (Effect Uuid) :=
  effects SceneShootAggregate (w.shoots.streams id)

def wardrobeLog (w : World) : WardrobeRef → List (Effect Uuid)
  | .piece id => w.pieceLog id
  | .outfit id => w.outfitLog id

/-- `count_links`: the rows of both link tables. -/
def countLinks (w : World) (photo : Uuid) : Nat :=
  countRows w.pieceTable.rows photo + countRows w.outfitTable.rows photo

/-- `find_by_id`; `readOk` says whether the query succeeds. -/
def findById (w : World) (photo : Uuid) (readOk : Bool) : Option PhotoView :=
  if readOk then w.photoTable.row ⟨photo⟩ else none

end World

/-! ## §4. The steps -/

/-- Project the next event of a stream into a link table, under the id the EVENT names. -/
def LinkTable.project {ε : Type} (table : LinkTable) (id : Uuid) (log : List ε) (eventId : ε → Uuid)
    (effect : ε → Effect Uuid) : Option LinkTable :=
  (log[table.projected id]?).map fun e =>
    { rows := projectRow table.rows (eventId e) (effect e)
      projected := Function.update table.projected id (table.projected id + 1) }

/-- Project the next event of a photo. -/
def PhotoTable.project (table : PhotoTable) (id : PhotoId) (log : List PhotoEvent) :
    Option PhotoTable :=
  (log[table.projected id]?).map fun e =>
    { row := Function.update table.row e.id (projectPhoto (table.row e.id) e)
      projected := Function.update table.projected id (table.projected id + 1) }

/-- What `find_by_id` leads to: the row's version must be translatable. -/
def Saga.found {ι : Type} (saga : Saga ι) (photo : Uuid) (view : PhotoView) : Saga ι :=
  match domainToStream view.version with
  | none => .start
  | some streamVersion =>
    { saga with pending := some (.dispatch photo view.version streamVersion) }

/-- Execute `DeletePhoto`; an error stops the saga, which then starts over. -/
def dispatch {ι : Type} (w : World) (saga : Saga ι) (i : InstanceId) (photo : Uuid)
    (version : AggregateVersion) (streamVersion : Nat) (outcome : AppendOutcome) :
    ActorSystem PhotoId PhotoAggregate × Saga ι :=
  let (photos, reply) := w.photos.executeAt i ⟨photo⟩ (.exact streamVersion)
    (.delete ⟨⟨photo⟩, version⟩) outcome
  match mapExecutedResult reply with
  | .ok _ => (photos, { saga with pending := none })
  | .error _ => (photos, .start)

theorem dispatch_photos (w) (saga : Saga ι) (i photo version streamVersion outcome) :
    (dispatch w saga i photo version streamVersion outcome).1 =
      (w.photos.executeAt i ⟨photo⟩ (.exact streamVersion) (.delete ⟨⟨photo⟩, version⟩) outcome).1 := by
  simp only [dispatch]
  split <;> rfl

/-- An actor of one of the four aggregate types. -/
inductive ActorRef
  | piece (id : Uuid)
  | outfit (id : Uuid)
  | shoot (id : SceneShootId)
  | photo (id : PhotoId)

/-- What can happen, in any order. -/
inductive Action
  | pieceCommand (i : InstanceId) (cmd : PieceCommand) (outcome : AppendOutcome)
  | outfitCommand (i : InstanceId) (cmd : OutfitCommand) (outcome : AppendOutcome)
  | shootCommand (i : InstanceId) (cmd : SceneShootCommand) (outcome : AppendOutcome)
  /-- A photo command other than `DeletePhoto`, which only the sagas dispatch. -/
  | photoCommand (i : InstanceId) (id : PhotoId) (expected : ExpectedVersion) (cmd : PhotoCommand)
      (outcome : AppendOutcome)
  | stopActor (i : InstanceId) (ref : ActorRef)
  | projectPiece (id : Uuid)
  | projectOutfit (id : Uuid)
  | projectPhoto (id : PhotoId)
  /-- The next event of a piece or outfit reaches the wardrobe saga. -/
  | deliverWardrobe (ref : WardrobeRef)
  /-- The next event of a scene shoot reaches the continuity saga. -/
  | deliverShoot (id : SceneShootId)
  | wardrobeFind (readOk : Bool)
  | wardrobeDispatch (i : InstanceId) (outcome : AppendOutcome)
  | restartWardrobe
  | continuityCount (readOk : Bool)
  | continuityFind (readOk : Bool)
  | continuityDispatch (i : InstanceId) (outcome : AppendOutcome)
  | restartContinuity

/-- How far the link table of a stream's own kind shows it. -/
def World.shown (w : World) : WardrobeRef → Nat
  | .piece id => w.pieceTable.projected id
  | .outfit id => w.outfitTable.projected id

/-- One action. `none`: the action is not enabled. -/
def step (w : World) : Action → Option World
  | .pieceCommand i cmd outcome =>
    match expectation PieceAggregate cmd with
    | .ok expected =>
      some { w with pieces := (w.pieces.executeAt i (pieceId cmd) expected cmd outcome).1 }
    | .error _ => none
  | .outfitCommand i cmd outcome =>
    match expectation OutfitAggregate cmd with
    | .ok expected =>
      some { w with outfits := (w.outfits.executeAt i (outfitId cmd) expected cmd outcome).1 }
    | .error _ => none
  | .shootCommand i cmd outcome =>
    match expectation SceneShootAggregate cmd with
    | .ok expected =>
      some { w with
        shoots := (w.shoots.executeAt i (WrapFinality.commandId cmd) expected cmd outcome).1 }
    | .error _ => none
  | .photoCommand i id expected cmd outcome =>
    if cmd.isDelete then none
    else some { w with photos := (w.photos.executeAt i id expected cmd outcome).1 }
  | .stopActor i ref =>
    match ref with
    | .piece id => some { w with pieces := w.pieces.stop i id }
    | .outfit id => some { w with outfits := w.outfits.stop i id }
    | .shoot id => some { w with shoots := w.shoots.stop i id }
    | .photo id => some { w with photos := w.photos.stop i id }
  | .projectPiece id =>
    (w.pieceTable.project id (w.pieces.streams id) PieceEvent.id PieceEvent.photoEffect).map
      fun pieceTable => { w with pieceTable }
  | .projectOutfit id =>
    (w.outfitTable.project id (w.outfits.streams id) OutfitEvent.id OutfitEvent.photoEffect).map
      fun outfitTable => { w with outfitTable }
  | .projectPhoto id =>
    (w.photoTable.project id (w.photos.streams id)).map fun photoTable => { w with photoTable }
  | .deliverWardrobe ref =>
    match w.wardrobe.pending, (w.wardrobeLog ref)[w.wardrobe.seen ref]? with
    | none, some e =>
      -- the tables the sagas read already show the event
      if w.wardrobe.seen ref < w.shown ref then
        some { w with wardrobe := w.wardrobe.deliver ref e .find }
      else none
    | _, _ => none
  | .deliverShoot id =>
    match w.continuity.pending, (w.shootLog id)[w.continuity.seen id]? with
    | none, some e => some { w with continuity := w.continuity.deliver id e .count }
    | _, _ => none
  | .wardrobeFind readOk =>
    match w.wardrobe.pending with
    | some (.find photo) =>
      match w.findById photo readOk with
      -- not found, or the read failed: skipped
      | none => some { w with wardrobe := { w.wardrobe with pending := none } }
      | some view => some { w with wardrobe := w.wardrobe.found photo view }
    | _ => none
  | .wardrobeDispatch i outcome =>
    match w.wardrobe.pending with
    | some (.dispatch photo version streamVersion) =>
      let (photos, wardrobe) := dispatch w w.wardrobe i photo version streamVersion outcome
      some { w with photos, wardrobe }
    | _ => none
  | .restartWardrobe => some { w with wardrobe := .start }
  | .continuityCount readOk =>
    match w.continuity.pending with
    | some (.count photo) =>
      -- a failed count and a positive one both end the handler
      if readOk && w.countLinks photo = 0 then
        some { w with continuity := { w.continuity with pending := some (.find photo) } }
      else some { w with continuity := { w.continuity with pending := none } }
    | _ => none
  | .continuityFind readOk =>
    match w.continuity.pending with
    | some (.find photo) =>
      match w.findById photo readOk with
      -- here a photo that is not found is an error
      | none => some { w with continuity := .start }
      | some view => some { w with continuity := w.continuity.found photo view }
    | _ => none
  | .continuityDispatch i outcome =>
    match w.continuity.pending with
    | some (.dispatch photo version streamVersion) =>
      let (photos, continuity) := dispatch w w.continuity i photo version streamVersion outcome
      some { w with photos, continuity }
    | _ => none
  | .restartContinuity => some { w with continuity := .start }

/-! ## §5. Photos in use -/

/-- An undeleted piece, outfit or scene shoot lists the photo. -/
def InUse (w : World) (photo : PhotoId) : Prop :=
  (∃ id, photo.uuid ∈ (w.pieces.entityAt id).photos ∧ (w.pieces.entityAt id).deleted = false) ∨
    (∃ id, photo.uuid ∈ (w.outfits.entityAt id).photos ∧ (w.outfits.entityAt id).deleted = false) ∨
    ∃ id, photo ∈ (w.shoots.entityAt id).continuityPhotos ∧ (w.shoots.entityAt id).deleted = false

/-- The step from `w` to `w'` appended `PhotoDeleted` for the photo. -/
def Deletes (w w' : World) (photo : PhotoId) : Prop :=
  ∃ e ∈ (w'.photos.streams photo).drop (w.photos.streams photo).length, e.isPhotoDeleted = true

instance (w w' : World) (photo : PhotoId) : Decidable (Deletes w w' photo) :=
  inferInstanceAs (Decidable (∃ e ∈ _, _))

end Breakdown.Photo
