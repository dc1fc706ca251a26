/-
**UPLOADING A PHOTO, AND DELIVERING THE UPLOAD TO THE THUMBNAIL SAGA**
(`upload_piece_photo`, `upload_outfit_photo` and `compensate_stored_photo_bytes` of
`api/src/handlers/mod.rs`, `infra/src/photo/sagas/thumbnail.rs`).

A handler stores the bytes, executes `UploadPhoto` and links the photo to its piece or outfit. A
refused command makes it delete the bytes again. After a refused LINK the photo exists, its
`PhotoUploaded` event is delivered like any other, and the saga finds no original.

Every store, command and step of a job is an action, so uploads and deliveries interleave in every
way; a delivery may crash, and any upload may be delivered any number of times. A handler is named
by the photo id it has drawn.

- `errors_iff`: in every run of uploads and deliveries, a step of `process_upload` fails only
  where it fetches an original that is not there;
- `upload_deliveries_ok_iff`: so which deliveries return `Ok`.
-/
import Breakdown.Lib.Transition
import Breakdown.Photo.Thumbnails
import Breakdown.Photo.System

namespace Breakdown.Uploads

open EventLog Fallible Transition

/-! ## §1. The handlers -/

/-- What the handler itself refuses. -/
inductive ApiError
  | unsupportedMediaType (message : String)
  | payloadTooLarge (message : String)

/-- `validate_photo_content_type_and_size`; the piece handler has the same checks inline. -/
def validatePhoto (header : Option String) (bodyLen maxSizeMb : Nat) : Except ApiError String :=
  let contentType := (header.getD "").toLower
  if ["image/jpeg", "image/png", "image/webp"].contains contentType = false then
    if contentType = "image/heic" || contentType = "image/heif" then
      .error (.unsupportedMediaType "HEIC/HEIF not supported. Convert to JPEG before upload.")
    else
      .error (.unsupportedMediaType
        "unsupported photo content type; accepted: image/jpeg, image/png, image/webp")
  else if bodyLen > maxSizeMb * 1024 * 1024 then
    .error (.payloadTooLarge "uploaded file exceeds the configured size limit")
  else .ok contentType

/-- What the photo is uploaded for, with the version of it that the handler has read. -/
inductive Holder
  | piece (id : Uuid) (version : AggregateVersion)
  | outfit (id : Uuid) (version : AggregateVersion)

def Holder.binding : Holder → PhotoBinding
  | .piece id _ => .piece id
  | .outfit id _ => .outfit id

/-- Where a handler stands. -/
inductive Phase
  /-- The bytes are stored, `UploadPhoto` comes next. -/
  | stored
  /-- The photo exists, the link comes next. -/
  | uploaded
  /-- A command was refused, `compensate_stored_photo_bytes` comes next. -/
  | refused
  deriving DecidableEq

/-- A handler at work. -/
structure UploadCall where
  holder : Holder
  contentType : String
  sizeBytes : Nat
  phase : Phase

/-! ## §2. The system -/

/-- The holders, the photos and whoever is at work on them. -/
structure World where
  pieces : ActorSystem Uuid PieceAggregate
  outfits : ActorSystem Uuid OutfitAggregate
  stores : Stores
  /-- The handlers at work. -/
  calls : PhotoId → Option UploadCall
  /-- The delivery at work. -/
  job : Option Job

def World.init : World where
  pieces := .init
  outfits := .init
  stores := ⟨.init, fun _ _ => none⟩
  calls := fun _ => none
  job := none

/-- What can happen, in any order. -/
inductive Action
  | pieceCommand (i : InstanceId) (cmd : PieceCommand) (outcome : AppendOutcome)
  | outfitCommand (i : InstanceId) (cmd : OutfitCommand) (outcome : AppendOutcome)
  /-- A handler has let a request in; it draws `photo` and stores the body. -/
  | beginUpload (photo : PhotoId) (holder : Holder) (header : Option String) (body : Bytes)
      (maxSizeMb : Nat)
  | dispatchUpload (photo : PhotoId) (i : InstanceId) (outcome : AppendOutcome)
  | dispatchLink (photo : PhotoId) (i : InstanceId) (outcome : AppendOutcome)
  | compensate (photo : PhotoId)
  /-- The handler's process dies. -/
  | dropCall (photo : PhotoId)
  /-- A deletion saga deletes a photo. -/
  | deletePhoto (i : InstanceId) (photo : PhotoId) (expected : ExpectedVersion)
      (version : AggregateVersion) (outcome : AppendOutcome)
  /-- `PhotoBytesCleanupSaga`, for a deleted photo. -/
  | cleanUp (photo : PhotoId)
  /-- A `PhotoUploaded` event is delivered to the thumbnail saga, for the first time or again. -/
  | deliver (photo : PhotoId)
  /-- One step of the delivery. -/
  | advance (i : InstanceId) (outcome : AppendOutcome)
  | crash

/-- `PhotoId::new()` draws an id nobody has used. -/
def isFresh (w : World) (photo : PhotoId) : Bool :=
  (w.calls photo).isNone && (w.stores.photos.streams photo).isEmpty &&
    (w.stores.objects photo .original).isNone

/-- Link the photo to its piece (`LinkPiecePhoto`) or outfit (`LinkOutfitPhoto`). -/
def link (w : World) (photo : PhotoId) (holder : Holder) (i : InstanceId) (outcome : AppendOutcome) :
    World × Except DomainError AggregateVersion :=
  match holder with
  | .piece id version =>
    match exactly version with
    | .error e => (w, .error e)
    | .ok expected =>
      let executed := w.pieces.executeAt i id expected (.linkPhoto ⟨id, photo.uuid, version⟩) outcome
      ({ w with pieces := executed.1 }, mapExecutedResult executed.2)
  | .outfit id version =>
    match exactly version with
    | .error e => (w, .error e)
    | .ok expected =>
      let executed := w.outfits.executeAt i id expected (.linkPhoto ⟨id, photo.uuid, version⟩) outcome
      ({ w with outfits := executed.1 }, mapStateBasedNoop executed.2 version)

/-- The handler of `photo` goes on to `call`, or answers. -/
def World.setCall (w : World) (photo : PhotoId) (call : Option UploadCall) : World :=
  { w with calls := Function.update w.calls photo call }

/-- `photo_commands().upload(..)`. -/
def dispatchUpload (w : World) (photo : PhotoId) (call : UploadCall) (i : InstanceId)
    (outcome : AppendOutcome) : World :=
  let executed := w.stores.photos.executeAt i photo .empty
    (.upload ⟨photo, call.contentType, call.sizeBytes, call.holder.binding⟩) outcome
  let phase := match mapExecutedResult executed.2 with
    | .ok _ => Phase.uploaded
    | .error _ => .refused
  { w with stores := { w.stores with photos := executed.1 } }.setCall photo (some { call with phase })

/-- `link_photo(..)`: the handler answers, or has the bytes to delete. -/
def dispatchLink (w : World) (photo : PhotoId) (call : UploadCall) (i : InstanceId)
    (outcome : AppendOutcome) : World :=
  let linked := link w photo call.holder i outcome
  match linked.2 with
  | .ok _ => linked.1.setCall photo none
  | .error _ => linked.1.setCall photo (some { call with phase := .refused })

/-- The saga after a step of its job: the error stops it, as the return does. -/
def Progress.job : Progress → Option Job
  | .goesOn job => some job
  | .returns _ => none

/-- One action. `none`: the action is not enabled. -/
def step (codec : Codec) (w : World) : Action → Option World
  | .pieceCommand i cmd outcome =>
    match expectation PieceAggregate cmd with
    | .ok expected =>
      some { w with
        pieces := (w.pieces.executeAt i (Photo.pieceId cmd) expected cmd outcome).1 }
    | .error _ => none
  | .outfitCommand i cmd outcome =>
    match expectation OutfitAggregate cmd with
    | .ok expected =>
      some { w with
        outfits := (w.outfits.executeAt i (Photo.outfitId cmd) expected cmd outcome).1 }
    | .error _ => none
  | .beginUpload photo holder header body maxSizeMb =>
    match validatePhoto header body.length maxSizeMb with
    | .ok contentType =>
      if isFresh w photo then
        some ({ w with stores := w.stores.store photo .original ⟨body, contentType⟩ }.setCall photo
          (some ⟨holder, contentType, body.length, .stored⟩))
      else none
    | .error _ => none
  | .dispatchUpload photo i outcome =>
    match w.calls photo with
    | some call => if call.phase = .stored then some (dispatchUpload w photo call i outcome) else none
    | none => none
  | .dispatchLink photo i outcome =>
    match w.calls photo with
    | some call => if call.phase = .uploaded then some (dispatchLink w photo call i outcome) else none
    | none => none
  | .compensate photo =>
    match w.calls photo with
    | some call =>
      if call.phase = .refused then
        some ({ w with stores := w.stores.deleteAll photo }.setCall photo none)
      else none
    | none => none
  | .dropCall photo => some (w.setCall photo none)
  | .deletePhoto i photo expected version outcome =>
    let photos := (w.stores.photos.executeAt i photo expected (.delete ⟨photo, version⟩) outcome).1
    some { w with stores := { w.stores with photos } }
  | .cleanUp photo =>
    if (w.stores.photos.entityAt photo).deleted then
      some { w with stores := w.stores.deleteAll photo }
    else none
  | .deliver photo =>
    if w.job.isNone && !(w.stores.photos.streams photo).isEmpty then
      some { w with job := some (.read photo) }
    else none
  | .advance i outcome =>
    w.job.map fun job =>
      let worked := work codec i outcome w.stores job
      { w with stores := worked.1, job := worked.2.job }
  | .crash => some { w with job := none }

/-- What `process_upload` returns in the next step of the delivery, if it returns then. -/
def sagaReturns (codec : Codec) (i : InstanceId) (w : World) : Option (Except ThumbnailError Unit) :=
  w.job.bind fun job =>
    match (work codec i .acknowledged w.stores job).2 with
    | .returns result => some result
    | .goesOn _ => none

/-! ## §3. Runs of uploads -/

/-- Uploads and deliveries, with an event store that answers the saga. Photos are not deleted. -/
def uploading (_ : World) : Action → Prop
  | .deletePhoto .. => False
  | .advance _ outcome => outcome = .acknowledged
  | _ => True

instance (w : World) (a : Action) : Decidable (uploading w a) := by
  cases a <;> dsimp only [uploading] <;> infer_instance

/-- No photo is deleted, and the delivery at work is sound. -/
structure Open (w : World) : Prop where
  undeleted : ∀ id, Undeleted (w.stores.photos.streams id)
  sound : ∀ job ∈ w.job, job.Sound

theorem open_init : Open World.init where
  undeleted := nofun
  sound := nofun

/-- A command that is not a deletion keeps the photos undeleted. -/
theorem undeleted_executeAt {photos : ActorSystem PhotoId PhotoAggregate}
    (h : ∀ id, Undeleted (photos.streams id)) (hcmd : cmd.isDelete = false)
    (i id expected outcome id') :
    Undeleted ((photos.executeAt i id expected cmd outcome).1.streams id') := by
  refine (photos.executeAt_advance i id expected cmd outcome).forall_streams
    (fun _ log => Undeleted log) h ?_ id'
  intro events hdecided
  refine (h id).append fun e he => ?_
  exact PhotoAggregate.handle_photoDeleted hdecided.handled hcmd he

/-- The link changes neither the photos nor the delivery. -/
theorem link_frame (w photo) (holder : Holder) (i outcome) :
    (link w photo holder i outcome).1.stores = w.stores ∧
      (link w photo holder i outcome).1.calls = w.calls ∧
      (link w photo holder i outcome).1.job = w.job := by
  cases holder with
  | piece | outfit =>
    simp only [link]
    split <;> exact ⟨rfl, rfl, rfl⟩

theorem dispatchLink_frame (w photo call i outcome) :
    (dispatchLink w photo call i outcome).stores = w.stores ∧
      (dispatchLink w photo call i outcome).job = w.job ∧
      ∃ answer, (answer = none ∨ answer = some { call with phase := .refused }) ∧
        (dispatchLink w photo call i outcome).calls = Function.update w.calls photo answer := by
  obtain ⟨hstores, hcalls, hjob⟩ := link_frame w photo call.holder i outcome
  unfold dispatchLink
  dsimp only
  split
  · exact ⟨hstores, hjob, none, .inl rfl, by rw [← hcalls]; rfl⟩
  · exact ⟨hstores, hjob, _, .inr rfl, by rw [← hcalls]; rfl⟩

theorem step_open (h : Open w) (hcond : uploading w a)
    (hs : step codec w a = some w') : Open w' := by
  cases a with simp only [step] at hs
  | deletePhoto => exact absurd hcond not_false
  | pieceCommand | outfitCommand | cleanUp =>
    split at hs <;> cases hs
    exact ⟨h.undeleted, h.sound⟩
  | beginUpload | compensate =>
    split at hs
    · split at hs <;> cases hs
      exact ⟨h.undeleted, h.sound⟩
    · cases hs
  | dispatchUpload photo i outcome =>
    split at hs
    · split at hs <;> cases hs
      exact ⟨undeleted_executeAt h.undeleted rfl i photo .empty outcome, h.sound⟩
    · cases hs
  | dispatchLink photo i outcome =>
    split at hs
    · next call _ =>
      split at hs <;> cases hs
      obtain ⟨hstores, hjob, -⟩ := dispatchLink_frame w photo call i outcome
      refine ⟨?_, ?_⟩
      · rw [hstores]
        exact h.undeleted
      · rw [hjob]
        exact h.sound
    · cases hs
  | dropCall =>
    cases hs
    exact ⟨h.undeleted, h.sound⟩
  | deliver =>
    split at hs <;> cases hs
    refine ⟨h.undeleted, ?_⟩
    intro job hjob
    cases hjob
    trivial
  | advance i outcome =>
    simp only [Option.map_eq_some_iff] at hs
    obtain ⟨job, hjob, rfl⟩ := hs
    have hsound := h.sound job hjob
    refine ⟨work_undeleted hsound codec i outcome h.undeleted, ?_⟩
    intro job' hjob'
    rcases hwork : work codec i outcome w.stores job with ⟨stores, progress⟩
    rw [hwork] at hjob'
    cases progress with
    | goesOn =>
      cases hjob'
      exact (work_goesOn hsound hwork).2.1
    | returns => cases hjob'
  | crash =>
    cases hs
    exact ⟨h.undeleted, nofun⟩

theorem runs_open (h : Runs (step codec) uploading World.init w) : Open w :=
  h.invariant Open open_init fun _ _ _ hi hcond hs => step_open hi hcond hs

/-- Where a delivery fails in an open world. -/
theorem errors_iff (h : Open w) (i) : (∃ e, sagaReturns codec i w = some (.error e)) ↔
      ∃ id state, w.job = some (.fetch id state) ∧ w.stores.objects id .original = none := by
  unfold sagaReturns
  cases hjob : w.job with
  | none => simp
  | some job =>
    have hiff := work_error_iff (h.sound job hjob) (h.undeleted job.photo) codec i
    simp only [Option.bind_some, Option.some.injEq]
    rw [← hiff]
    constructor
    · rintro ⟨e, he⟩
      split at he
      · next result hresult =>
        cases he
        exact ⟨e, hresult⟩
      · cases he
    · rintro ⟨e, he⟩
      exact ⟨e, by rw [he]⟩

/-! ## §4. Jobs and the photo streams -/

/-- Streams do not become empty. -/
theorem ne_nil_of_executeAt {photos : ActorSystem PhotoId PhotoAggregate}
    {id} (h : photos.streams id' ≠ []) :
    (photos.executeAt i id expected cmd outcome).1.streams id' ≠ [] := by
  intro hnil
  have hprefix := (photos.executeAt_advance i id expected cmd outcome).prefix_ id'
  rw [hnil] at hprefix
  exact h (List.prefix_nil.1 hprefix)

section Work

variable {codec : Codec} {i : InstanceId} {outcome : AppendOutcome} {s : Stores} {job : Job}

theorem work_streams_of_ne (hsound : job.Sound) {id} (hid : id ≠ job.photo) :
    (work codec i outcome s job).1.photos.streams id = s.photos.streams id := by
  obtain hs | ⟨variant', object, hs⟩ | ⟨cmd, -, hs⟩ := work_writes hsound codec i outcome s
  · rw [hs]
  · rw [hs]
    rfl
  · rw [hs]
    obtain heq | ⟨rfl, -⟩ := (s.photos.executeAt_advance i job.photo .any cmd outcome).at_ id
    · exact heq
    · exact absurd rfl hid

/-- Streams grow. -/
theorem work_streams_grow (hsound : job.Sound) (codec i outcome s id) :
    s.photos.streams id <+: (work codec i outcome s job).1.photos.streams id := by
  obtain hs | ⟨variant', object, hs⟩ | ⟨cmd, -, hs⟩ := work_writes hsound codec i outcome s
  · rw [hs]
  · rw [hs]
    exact List.prefix_rfl
  · rw [hs]
    exact (s.photos.executeAt_advance i job.photo .any cmd outcome).prefix_ id

theorem work_streams_ne_nil (hsound : job.Sound) {id} (h : s.photos.streams id ≠ []) :
    (work codec i outcome s job).1.photos.streams id ≠ [] := by
  intro hnil
  have hgrow := work_streams_grow hsound codec i outcome s id
  rw [hnil] at hgrow
  exact h (List.prefix_nil.1 hgrow)

end Work

/-! ## §5. When deliveries return `Ok` -/

/-- **WHICH DELIVERIES FAIL**, in every run of uploads through both handlers, of deliveries in any
order and any number, and of crashes. A step of `process_upload` returns an error exactly if it
fetches the original of a photo whose bytes have been deleted. A delivery that nobody interrupts
returns, and returns `Ok` exactly if the photo is terminal or its original is there. -/
theorem upload_deliveries_ok_iff {codec : Codec} {w : World}
    (h : Runs (step codec) uploading World.init w) (i : InstanceId) :
    ((∃ e, sagaReturns codec i w = some (.error e)) ↔
      ∃ id state, w.job = some (.fetch id state) ∧ w.stores.objects id .original = none) ∧
    ∀ id, (∃ s, finish codec i 9 w.stores (.read id) = some (s, .ok ())) ↔
      isTerminal (w.stores.photos.entityAt id) = true ∨
        (w.stores.objects id .original).isSome = true := by
  have hopen := runs_open h
  exact ⟨errors_iff hopen i, finish_ok_iff hopen.undeleted⟩

/-- A coat, and a photo of it that is stored and uploaded. -/
def coatUploaded (header : String) (body : Bytes) : List Action :=
  [.pieceCommand 0 (.create ⟨1, "Coat", none, none⟩) .acknowledged,
    .beginUpload ⟨7⟩ (.piece 1 1) (some header) body 20,
    .dispatchUpload ⟨7⟩ 0 .acknowledged]

/-- Bytes that do not decode are no reason to fail. -/
theorem upload_deliveries_ok_iff_undecodable : ∃ w : World,
    Runs (step blackCodec) uploading World.init w ∧
      ∃ s, finish blackCodec 0 9 w.stores (.read ⟨7⟩) = some (s, .ok ()) := by
  refine exists_runs_imp (coatUploaded "image/jpeg" [1, 2, 3] ++ [.dispatchLink ⟨7⟩ 0 .acknowledged])
    (P := fun w => (w.stores.objects ⟨7⟩ .original).isSome = true) (by decide +kernel) ?_
  intro w hr hobject
  exact ((upload_deliveries_ok_iff hr 0).2 ⟨7⟩).2 (.inr hobject)

/-- The coat is renamed while its photo is uploaded: the link is refused, the handler deletes the
bytes, and the delivery of the upload returns an error, now and on every redelivery. -/
theorem refused_link_fails_delivery : ∃ w : World,
    Runs (step blackCodec) uploading World.init w ∧
      sagaReturns blackCodec 0 w = some (.error .validation) ∧
      (finish blackCodec 0 9 w.stores (.read ⟨7⟩)).map Prod.snd = some (.error .validation) :=
  exists_runs (coatUploaded "image/png" blackPng ++
    [.pieceCommand 1 (.rename ⟨1, "Red coat", 1⟩) .acknowledged, .dispatchLink ⟨7⟩ 0 .acknowledged,
      .compensate ⟨7⟩, .deliver ⟨7⟩, .advance 0 .acknowledged]) (by decide +kernel)

end Breakdown.Uploads
